import Boron.DnsCluster.Sending

namespace Boron.DnsCluster
open List Sys
variable {host : Host} {peer : Peer} {zone : String} {c : Cluster}

/-- The server of the peer holds exactly these records. -/
def At (peer : Peer) (zone : String) (copy : Option Copy) (c : Cluster) : Prop :=
  c.remotes peer.endpoint zone = copy

theorem answer_triple {α : Type} {request : Request} {serve : Option Copy → Except String (Option Copy × α)}
    {before after : Option Copy} {answer : α} (served : serve before = .ok (after, answer)) :
    Triple (At peer zone before) (exchange host peer.endpoint zone request serve)
      (fun given c => given = answer ∧ At peer zone after c) (fun _ => True) := by
  refine exchange_triple (fun _ _ => trivial) fun c holds copy given ran => ⟨?_, trivial⟩
  rw [show c.remotes peer.endpoint zone = before from holds, served] at ran
  obtain ⟨rfl, rfl⟩ := Prod.mk.inj (Except.ok.inj ran)
  exact ⟨rfl, put_remotes _ _⟩

theorem cpanelRemove_triple (before after : Copy) (row : Row) :
    Triple (At peer zone (some (before ++ row :: after))) (cpanelRemove host peer zone (before.length + 1))
      (fun _ => At peer zone (some (before ++ after))) (fun _ => True) := by
  have erased : (before ++ row :: after).eraseIdx (before.length + 1 - 1) = before ++ after := by
    rw [Nat.add_sub_cancel, eraseIdx_append_of_length_le le_rfl, Nat.sub_self, eraseIdx_cons_zero]
  have served : (if 1 ≤ before.length + 1 ∧ before.length + 1 ≤ (before ++ row :: after).length then
      .ok (some ((before ++ row :: after).eraseIdx (before.length + 1 - 1)), ())
      else .error "no record at this line" : Except String (Option Copy × Unit)) = .ok (some (before ++ after), ()) := by
    rw [if_pos ⟨Nat.succ_pos _, by simp⟩, erased]
  exact (answer_triple served).weaken (fun _ holds => holds) (fun _ _ ended => ended.2) fun _ _ => trivial

/-- The lines of the records that are not an SOA, counted from `line`. -/
def linesFrom (rows : Copy) (line : Nat) : List Nat :=
  ((rows.zipIdx line).filter fun row => ¬ row.1.isSoa).map Prod.snd

theorem linesFrom_cons (row : Row) (rows : Copy) (line : Nat) :
    linesFrom (row :: rows) line = if row.isSoa then linesFrom rows (line + 1) else line :: linesFrom rows (line + 1) := by
  unfold linesFrom
  rw [zipIdx_cons, filter_cons]
  cases soa : row.isSoa <;> simp

/-- From the last line to the first, every removal finds its record where the
dump showed it. -/
theorem removal_triple (rows before : Copy) : Triple (At peer zone (some (before ++ rows)))
      (each (cpanelRemove host peer zone) (linesFrom rows (before.length + 1)).reverse)
      (fun _ => At peer zone (some (before ++ rows.filter Row.isSoa))) (fun _ => True) := by
  induction rows generalizing before with
  | nil => exact Triple.pure fun _ holds => holds
  | cons row rows ih =>
    have rest := ih (before ++ [row])
    rw [length_append, length_singleton, append_assoc, singleton_append] at rest
    rw [linesFrom_cons]
    cases soa : row.isSoa with
    | true =>
      simpa only [if_true, filter_cons, soa, append_assoc, singleton_append] using rest
    | false =>
      rw [if_neg Bool.false_ne_true, reverse_cons, each_append, filter_cons, soa, if_neg Bool.false_ne_true]
      refine rest.bind fun _ => ?_
      rw [append_assoc, singleton_append]
      exact (cpanelRemove_triple before _ row).bind fun _ => Triple.pure fun _ holds => holds

theorem cpanelAdd_triple (rows : Copy) (row : Row) :
    Triple (At peer zone (some rows)) (cpanelAdd host peer zone row)
      (fun _ => At peer zone (some (rows ++ [row]))) (fun _ => True) :=
  (answer_triple rfl).weaken (fun _ holds => holds) (fun _ _ ended => ended.2) fun _ _ => trivial

theorem addition_triple (items : List (RRset × String)) (rows : Copy) :
    Triple (At peer zone (some rows)) (each (cpanelAddValue host peer zone) items)
      (fun _ c => ∃ added, items.mapM cpanelRecordParams = some added ∧ At peer zone (some (rows ++ added)) c)
      (fun _ => True) := by
  induction items generalizing rows with
  | nil => exact Triple.pure fun _ holds => ⟨[], rfl, by rwa [append_nil]⟩
  | cons item items ih =>
    rw [each_cons]
    cases params : cpanelRecordParams item with
    | none =>
      have refused : cpanelAddValue host peer zone item = fail "not enough values to unpack" := by
        rw [cpanelAddValue, params]
      rw [refused]
      exact Triple.bind (Q := fun _ _ => False) (Triple.fail fun _ _ => trivial)
        fun _ _ impossible => impossible.elim
    | some row =>
      have adds : cpanelAddValue host peer zone item = cpanelAdd host peer zone row := by
        rw [cpanelAddValue, params]
      rw [adds]
      refine (cpanelAdd_triple rows row).bind fun _ => (ih (rows ++ [row])).weaken (fun _ holds => holds) ?_
        fun _ _ => trivial
      rintro _ c ⟨added, listed, holds⟩
      exact ⟨row :: added, by simp [params, listed], by simpa using holds⟩

/-- The records of a payload as the server of the peer keeps them. cPanel keeps
its own SOA. -/
def Holds (peer : Peer) (payload : Payload) (copy : Copy) : Prop :=
  match peer.peerType with
  | .cpanel => (cpanelValues payload).mapM cpanelRecordParams = some (copy.filter fun row => ¬ row.isSoa)
  | _ => copy = zoneRows payload

def Holding (peer : Peer) (zone : String) (payload : Payload) (c : Cluster) : Prop :=
  ∃ copy, At peer zone (some copy) c ∧ Holds peer payload copy

theorem recordParams_type {item : RRset × String} {row : Row} (params : cpanelRecordParams item = some row) :
    row.type = item.1.type := by
  obtain ⟨data, -, rfl⟩ := Option.map_eq_some_iff.mp params
  rfl

theorem known_isSoa : ∀ type ∈ recordTypes, type ≠ "SOA" → type.toList.map Char.toUpper ≠ "SOA".toList := by
  decide

theorem added_isSoa {payload : Payload} {item : RRset × String} (listed : item ∈ cpanelValues payload) {row : Row}
    (params : cpanelRecordParams item = some row) : row.isSoa = false := by
  simp only [cpanelValues, mem_flatMap, mem_filter, mem_map, decide_eq_true_eq] at listed
  obtain ⟨rr, ⟨member, other⟩, value, -, rfl⟩ := listed
  have differs := known_isSoa rr.type (payload.known rr member) other
  rw [← recordParams_type params] at differs
  simpa [Row.isSoa] using differs

theorem mapM_mem {items : List (RRset × String)} {rows : Copy} (listed : items.mapM cpanelRecordParams = some rows)
    {row : Row} (member : row ∈ rows) : ∃ item ∈ items, cpanelRecordParams item = some row := by
  induction items generalizing rows with
  | nil =>
    cases listed
    cases member
  | cons item items ih =>
    simp only [mapM_cons, Option.bind_eq_bind, Option.bind_eq_some_iff, Option.pure_def, Option.some.injEq]
      at listed
    obtain ⟨first, params, rest, more, rfl⟩ := listed
    rcases mem_cons.mp member with rfl | member
    · exact ⟨item, mem_cons_self, params⟩
    · obtain ⟨other, inside, same⟩ := ih more member
      exact ⟨other, mem_cons_of_mem item inside, same⟩

theorem filter_soa (rows : Copy) : (rows.filter Row.isSoa).filter (fun row => ¬ row.isSoa) = [] := by
  simp [filter_filter]

theorem cpanelReplace_holds (kind : peer.peerType = .cpanel) (payload : Payload) (rows : Copy) :
    Triple (At peer zone (some rows)) (cpanelReplace host peer zone payload rows)
      (fun _ => Holding peer zone payload) (fun _ => True) := by
  refine (Triple.ofExcept (fun _ _ holds _ => holds) fun _ _ => trivial).bind fun _ =>
    (Triple.ofExcept (fun _ _ holds _ => holds) fun _ _ => trivial).bind fun _ => ?_
  have removed : Triple (At peer zone (some rows)) (each (cpanelRemove host peer zone) (removable rows).reverse)
      (fun _ => At peer zone (some (rows.filter Row.isSoa))) (fun _ => True) := removal_triple rows []
  refine removed.bind fun _ => (addition_triple (cpanelValues payload) (rows.filter Row.isSoa)).weaken
    (fun _ holds => holds) (fun _ c ended => ?_) fun _ _ => trivial
  obtain ⟨added, listed, holds⟩ := ended
  refine ⟨_, holds, ?_⟩
  have fresh : added.filter (fun row => ¬ row.isSoa) = added := by
    refine filter_eq_self.mpr fun row member => ?_
    obtain ⟨item, inside, params⟩ := mapM_mem listed member
    simp [added_isSoa inside params]
  simp only [Holds, kind]
  rw [filter_append, filter_soa, fresh, nil_append, listed]

theorem cpanelRows_at (payload : Payload) (dump : Option Copy) :
    Triple (fun c => ∀ rows, dump = some rows → At peer zone (some rows) c)
      (cpanelRows host peer zone payload dump) (fun rows => At peer zone (some rows)) (fun _ => True) := by
  have dumped (before : Option Copy) : Triple (At peer zone before) (cpanelDumpzone host peer zone)
      (fun rows => At peer zone (some rows)) (fun _ => True) := by
    cases before with
    | none =>
      refine exchange_triple (fun _ _ => trivial) fun c holds copy given ran => ?_
      rw [show c.remotes peer.endpoint zone = none from holds] at ran
      cases ran
    | some rows =>
      refine (answer_triple rfl).weaken (fun _ holds => holds) (fun given c ended => ?_) fun _ _ => trivial
      rw [ended.1]
      exact ended.2
  cases dump with
  | some rows => exact Triple.pure fun _ known => known rows rfl
  | none =>
    have listed : Triple (fun _ => True) (cpanelDumpzone host peer zone)
        (fun rows => At peer zone (some rows)) (fun _ => True) := fun c _ => dumped _ c rfl
    have ended {α : Type} (p : Dns α) : Triple (fun _ => True) p (fun _ _ => True) (fun _ => True) :=
      fun _ _ => ⟨fun _ _ _ => trivial, fun _ _ _ => trivial⟩
    exact ((ended (cpanelAdddns host peer zone _)).weaken (fun _ _ => trivial) (fun _ _ _ => trivial)
      fun _ _ => trivial).bind fun _ => (ended (recordOwnership peer zone)).bind fun _ => listed

theorem cpanelOwned_at (managed : Bool) : Triple (fun _ => True) (cpanelOwned host peer zone managed)
      (fun dump c => ∀ rows, dump = some rows → At peer zone (some rows) c) (fun _ => True) := by
  cases managed with
  | false => exact Triple.pure fun _ _ _ impossible => nomatch impossible
  | true =>
    have dumped : Triple (fun _ => True) (cpanelDumpzoneOrAbsent host peer zone)
        (fun dump => At peer zone dump) (fun _ => True) := by
      refine exchange_triple (fun _ _ => trivial) fun c _ copy given ran => ⟨?_, trivial⟩
      obtain ⟨rfl, rfl⟩ := Prod.mk.inj (Except.ok.inj ran)
      exact put_remotes _ _
    refine Triple.bind dumped fun dump => ?_
    cases dump with
    | some rows =>
      refine Triple.pure fun c holds other same => ?_
      cases same
      exact holds
    | none =>
      refine Triple.bind (Q := fun _ _ => True) (Triple.modify fun _ _ => trivial) fun _ =>
        Triple.pure fun _ _ _ impossible => nomatch impossible

theorem sendCpanel_holds (kind : peer.peerType = .cpanel) (managed : Bool) (payload : Payload) :
    Triple (fun _ => True) (sendCpanel host peer zone managed (.upsert payload))
      (fun _ => Holding peer zone payload) (fun _ => True) :=
  (cpanelOwned_at managed).bind fun dump => (cpanelRows_at payload dump).bind fun rows =>
    (cpanelReplace_holds kind payload rows).bind fun _ => Triple.pure fun _ holds => holds

/-- A zone that is not known to be owned is absent or already holds the payload. -/
def Settled (peer : Peer) (zone : String) (managed : Bool) (payload : Payload) (c : Cluster) : Prop :=
  managed = false → ∀ copy, c.remotes peer.endpoint zone = some copy → copy = zoneRows payload

theorem directadminBlocked_holds (kind : peer.peerType = .directadmin) (managed : Bool) (payload : Payload) :
    Triple (Settled peer zone managed payload) (directadminBlocked host peer zone managed)
      (fun blocked c => blocked = true → Holding peer zone payload c) (fun _ => True) := by
  cases managed with
  | true => exact Triple.pure fun _ _ impossible => nomatch impossible
  | false =>
    show Triple _ (directadminExists host peer zone) _ _
    refine exchange_triple (fun _ _ => trivial) fun c settled copy given ran => ⟨fun present => ?_, trivial⟩
    obtain ⟨rfl, rfl⟩ := Prod.mk.inj (Except.ok.inj ran)
    obtain ⟨rows, known⟩ := Option.isSome_iff_exists.mp present
    refine ⟨rows, (put_remotes _ _).trans known, ?_⟩
    simp only [Holds, kind]
    exact settled rfl rows known

theorem sendDirectadmin_holds (kind : peer.peerType = .directadmin) (managed : Bool) (payload : Payload) :
    Triple (Settled peer zone managed payload) (sendDirectadmin host peer zone managed (.upsert payload))
      (fun _ => Holding peer zone payload) (fun _ => True) := by
  refine (directadminBlocked_holds kind managed payload).bind fun blocked => ?_
  cases blocked with
  | true => exact Triple.pure fun _ holds => holds rfl
  | false =>
    have saved : Triple (fun c => false = true → Holding peer zone payload c)
        (directadminRawsave host peer zone payload) (fun _ => Holding peer zone payload) (fun _ => True) := by
      refine exchange_triple (fun _ _ => trivial) fun c _ copy given ran => ⟨?_, trivial⟩
      obtain ⟨rfl, -⟩ := Prod.mk.inj (Except.ok.inj ran)
      refine ⟨zoneRows payload, put_remotes _ _, ?_⟩
      simp only [Holds, kind]
    exact saved.bind fun _ => Triple.pure fun _ holds => holds

theorem send_holds (managed : Bool) (payload : Payload) (remote : peer.peerType ≠ .boron)
    (settled : peer.peerType = .directadmin → Settled peer zone managed payload c) {delivery : Provenance}
    {c' : Cluster} (ran : (send host peer zone managed (.upsert payload)).run c = (.ok delivery, c')) :
    Holding peer zone payload c' := by
  unfold send at ran
  cases kind : peer.peerType with
  | boron => exact absurd kind remote
  | directadmin =>
    rw [kind] at ran
    exact (sendDirectadmin_holds kind managed payload c (settled kind)).1 _ _ ran
  | cpanel =>
    rw [kind] at ran
    exact (sendCpanel_holds kind managed payload c trivial).1 _ _ ran

end Boron.DnsCluster

namespace Boron.DnsCluster

def lastQueued (history : List Event) (peerId : Nat) (zone : String) : Option Change :=
  history.findSome? fun
    | .queued id z change => if id = peerId ∧ z = zone then some change else none
    | _ => none

/-- All a delivery changes is the copy it is about, and the marks. -/
structure Quiet (endpoint zone : String) (c c' : Cluster) : Prop where
  peers : c'.peers = c.peers
  outbox : c'.outbox = c.outbox
  events : c'.events = c.events
  queued : ∀ peerId z, lastQueued c'.history peerId z = lastQueued c.history peerId z
  elsewhere : ∀ e z, ¬ (e = endpoint ∧ z = zone) → c'.remotes e z = c.remotes e z

variable {endpoint zone : String}

instance : Std.Refl (Quiet endpoint zone) := ⟨fun _ => ⟨rfl, rfl, rfl, fun _ _ => rfl, fun _ _ _ => rfl⟩⟩

instance : IsTrans Cluster (Quiet endpoint zone) where
  trans _ _ _ first second := ⟨second.peers.trans first.peers, second.outbox.trans first.outbox,
    second.events.trans first.events, fun peerId z => (second.queued peerId z).trans (first.queued peerId z),
    fun e z other => (second.elsewhere e z other).trans (first.elsewhere e z other)⟩

theorem quiet_ask (c : Cluster) (request : Request) : Quiet endpoint zone c (c.ask endpoint zone request) :=
  ⟨rfl, rfl, rfl, fun _ _ => rfl, fun _ _ _ => rfl⟩

theorem quiet_put (c : Cluster) (copy : Option Copy) : Quiet endpoint zone c (c.put endpoint zone copy) := by
  refine ⟨rfl, rfl, rfl, fun peerId z => ?_, fun e z other => by simp only [Cluster.put, if_neg other]⟩
  unfold Cluster.put
  split
  · rfl
  · rfl

variable {host : Host} {peer : Peer}

theorem exchange_quiet {α : Type} (request : Request) (serve : Option Copy → Except String (Option Copy × α)) :
    Sys.Keeps (Quiet endpoint zone) (exchange host endpoint zone request serve) := by
  intro c
  have asked : Quiet endpoint zone c (c.ask endpoint zone request) := quiet_ask c request
  unfold exchange
  dsimp only
  cases host.outcome c.calls with
  | failed => exact asked
  | done | lost =>
    cases serve (c.remotes endpoint zone) with
    | error reason => exact asked
    | ok result => exact IsTrans.trans _ _ _ asked (quiet_put _ _)

theorem sendDirectadmin_quiet (managed : Bool) (change : Change) :
    Sys.Keeps (Quiet peer.endpoint zone) (sendDirectadmin host peer zone managed change) := by
  cases change with
  | delete =>
    cases managed with
    | true => exact (exchange_quiet _ _).bind fun _ => Sys.Keeps.pure _
    | false => exact Sys.Keeps.pure _
  | upsert payload =>
    have blocked : Sys.Keeps (Quiet peer.endpoint zone) (directadminBlocked host peer zone managed) := by
      cases managed with
      | true => exact Sys.Keeps.pure _
      | false =>
        show Sys.Keeps _ (directadminExists host peer zone)
        exact exchange_quiet _ _
    refine blocked.bind fun skips => ?_
    cases skips with
    | true => exact Sys.Keeps.pure _
    | false => exact (exchange_quiet _ _).bind fun _ => Sys.Keeps.pure _

theorem recordOwnership_quiet : Sys.Keeps (Quiet endpoint zone) (recordOwnership peer zone) :=
  Sys.Keeps.modify fun _ => ⟨rfl, rfl, rfl, fun _ _ => rfl, fun _ _ _ => rfl⟩

theorem forgetOwnership_quiet : Sys.Keeps (Quiet endpoint zone) (forgetOwnership peer zone) :=
  Sys.Keeps.modify fun _ => ⟨rfl, rfl, rfl, fun _ _ => rfl, fun _ _ _ => rfl⟩

theorem sendCpanel_quiet (managed : Bool) (change : Change) :
    Sys.Keeps (Quiet peer.endpoint zone) (sendCpanel host peer zone managed change) := by
  cases change with
  | delete =>
    cases managed with
    | true => exact (exchange_quiet _ _).bind fun _ => Sys.Keeps.pure _
    | false => exact Sys.Keeps.pure _
  | upsert payload =>
    have owned : Sys.Keeps (Quiet peer.endpoint zone) (cpanelOwned host peer zone managed) := by
      cases managed with
      | false => exact Sys.Keeps.pure _
      | true =>
        refine Sys.Keeps.bind (exchange_quiet _ _) fun dump => ?_
        cases dump with
        | some rows => exact Sys.Keeps.pure _
        | none => exact forgetOwnership_quiet.bind fun _ => Sys.Keeps.pure _
    have listed (dump : Option Copy) : Sys.Keeps (Quiet peer.endpoint zone) (cpanelRows host peer zone payload dump) := by
      cases dump with
      | some rows => exact Sys.Keeps.pure _
      | none => exact (exchange_quiet _ _).bind fun _ => recordOwnership_quiet.bind fun _ => by exact exchange_quiet _ _
    have added (item : RRset × String) : Sys.Keeps (Quiet peer.endpoint zone) (cpanelAddValue host peer zone item) := by
      unfold cpanelAddValue
      split
      · exact exchange_quiet _ _
      · exact Sys.Keeps.fail _
    refine owned.bind fun dump => (listed dump).bind fun rows => Sys.Keeps.bind ?_ fun _ => Sys.Keeps.pure _
    exact (Sys.Keeps.ofExcept _).bind fun _ => (Sys.Keeps.ofExcept _).bind fun _ =>
      (Sys.Keeps.each fun line _ => exchange_quiet _ _).bind fun _ => Sys.Keeps.each fun item _ => added item

theorem send_quiet (managed : Bool) (change : Change) :
    Sys.Keeps (Quiet peer.endpoint zone) (send host peer zone managed change) := by
  unfold send
  split
  · exact Sys.Keeps.bind ((exchange_quiet _ _).bind fun _ => exchange_quiet _ _) fun _ => Sys.Keeps.pure _
  · exact sendDirectadmin_quiet managed change
  · exact sendCpanel_quiet managed change

end Boron.DnsCluster
