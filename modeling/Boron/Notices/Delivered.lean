import Boron.Notices.Sound

namespace Boron.Notices
open List
variable {ι : Type}

def Moment.runs (moment : Moment) : Bool := !moment.stops && !moment.raises

/-- A row is still as it was read, or failed since; it is not being sent and not done. -/
def IsOpen (seen : Digest ι) (store : Store ι) : Prop :=
  ∃ row ∈ store.digests, row.id = seen.id ∧ row.items = seen.items ∧ (row.status = .queued ∨ row.status = .failed)

/-- What a turn has to find. A row that is written is as it was read. No delivery was recorded
since it was looked for. What arrives is reported. Nothing stops a flush between its turn to
sending and the write that ends it. -/
def Calm (task : Task ι) (moment : Moment) (store : Store ι) : Prop :=
  match task with
  | .dispatch _ _ (.append (some seen) _ _ _ _) => moment.runs → IsOpen seen store
  | .dispatch call _ (.insert channel _) => moment.runs → store.recorded (call.eventKey channel) = false
  | .dispatch _ _ (.attempt _ _ _) | .dispatch _ _ (.mail _ _ _) => moment.outcome ≠ .unreported
  | .flush _ (.claim seen _) => moment.runs → IsOpen seen store
  | .flush _ (.send _ _ _ _) => moment.stops = false ∧ moment.outcome ≠ .unreported
  | .flush _ (.finish _ _ _ _) => moment.runs
  | _ => True

def Free (i : ι) (store : Store ι) : Prop := ∀ row ∈ store.digests, row.status = .sending → row.sender ≠ some i

section
variable {store : Store ι} {i : ι} {moment : Moment} {call : Dispatch} {queued : List Channel} {task : Task ι}

theorem Free.relies (free : Free i store) (phase : task.relies i store) : Relies i task store where
  waiting row listed sending sender := absurd sender (free row listed sending)
  phase := phase

theorem Relies.free (relies : Relies i task store) (none : ∀ id, ¬ task.delivers id) : Free i store :=
  fun row listed sending sender => none row.id (relies.waiting row listed sending sender)

theorem free_of_digests {after : Store ι} (free : Free i store) (same : after.digests = store.digests) : Free i after := by
  unfold Free
  rw [same]
  exact free

theorem free_newDigest (free : Free i store) (key : DigestKey) (item : Item) (dueAt : Nat) :
    Free i (store.newDigest key item dueAt) := by
  intro row listed sending
  rcases mem_append.mp listed with earlier | newest
  · exact free row earlier sending
  · rw [mem_singleton.mp newest] at sending
    cases sending

theorem free_appendItem (free : Free i store) (key : DigestKey) (seen : Digest ι) (item : Item) :
    Free i (store.appendItem key seen item) := by
  intro row listed sending
  obtain ⟨old, inside, rfl⟩ := mem_map.mp listed
  split at sending
  · next hit =>
    rw [if_pos hit]
    exact free old inside sending
  · next other =>
    rw [if_neg other]
    exact free old inside sending

theorem relies_nextRecipient (channel : Channel) (recipients : List (Option String)) (channels : List Channel) :
    (Task.dispatch call queued (nextRecipient channel recipients channels)).relies i store := by
  cases recipients with
  | nil => trivial
  | cons recipient rest => trivial

theorem Owes.weaken {key : EventKey} {owed less : Option String → Prop} (owes : Owes i key owed store)
    (fewer : ∀ recipient, less recipient → owed recipient) : Owes i key less store := fun run =>
  ⟨(owes run).1, fun recipient due => (owes run).2 recipient (fewer recipient due)⟩

theorem record_owes (sound : Sound store) {key : EventKey} (fresh : store.recorded key = false)
    (owed : Option String → Prop) : Owes i key owed (store.record i key) := by
  intro run
  refine ⟨⟨_, mem_append_right _ (mem_singleton_self _), rfl, rfl⟩, fun recipient _ known => ?_⟩
  obtain ⟨row, listed, named⟩ := sound.recorded (key, recipient) known run
  unfold Store.recorded at fresh
  rw [Option.isSome_iff_ne_none.mpr run, Bool.true_and, any_eq_false] at fresh
  exact fresh row listed (decide_eq_true named)

theorem arrive_refused (key : EventKey) (recipient : Option String) : store.arrive .refused key recipient = store := rfl

theorem arrive_digests (outcome : Outcome) (key : EventKey) (recipient : Option String) :
    (store.arrive outcome key recipient).digests = store.digests := by
  unfold Store.arrive
  split
  · rfl
  · rfl

/-- What a turn of a task owes: sound tables, the others left alone, and its own reliance. -/
def Carried (i : ι) (before : Store ι) (left : Task ι × Store ι) : Prop :=
  Turned i before left.2 ∧ Relies i left.1 left.2

theorem carried_reading (sound : Sound store) (free : Free i store) (phase : task.relies i store) :
    Carried i store (task, store) := ⟨Turned.refl sound, free.relies phase⟩

variable {channels : List Channel} {channel : Channel}

section
variable (sound : Sound store)
include sound

section
variable (free : Free i store)
include free

theorem append_carried {seen : Option (Digest ι)} {recipient : Option String} {recipients : List (Option String)} (relies : (Task.dispatch call queued (.append seen channel recipient recipients channels)).relies i store)
    (open_ : ∀ row, seen = some row → IsOpen row store) :
    Carried i store (dispatchTurn moment i call queued (.append seen channel recipient recipients channels) store) := by
  cases seen with
  | none =>
    exact ⟨newDigest_turned sound _ _ _,
      (free_newDigest free _ _ _).relies (relies_nextRecipient channel recipients channels)⟩
  | some seen =>
    obtain ⟨row, listed, named, items, status⟩ := open_ seen rfl
    obtain ⟨other, inside, otherId, key⟩ := relies
    have same := sound.same_row inside listed (otherId.trans named.symm)
    have appended := appendItem_turned (i := i) sound listed named items status call.item
    rw [← same, key] at appended
    exact ⟨appended, (free_appendItem free _ _ _).relies (relies_nextRecipient channel recipients channels)⟩

theorem insert_carried (fresh : store.recorded (call.eventKey channel) = false) :
    Carried i store (dispatchTurn moment i call queued (.insert channel channels) store) := by
  have turned := record_turned (i := i) sound fresh
  have idle : Free i (store.record i (call.eventKey channel)) := free_of_digests free rfl
  cases channel with
  | email => exact ⟨turned, idle.relies (record_owes sound fresh _)⟩
  | telegram => exact ⟨turned, idle.relies (record_owes sound fresh _)⟩
  | webhook => exact ⟨turned, idle.relies (record_owes sound fresh _)⟩
  | other name => exact ⟨turned, idle.relies trivial⟩

theorem attempt_carried {id left : Nat} (owes : Owes i (call.eventKey .telegram) (· = none) store) (reported : moment.outcome ≠ .unreported) :
    Carried i store (dispatchTurn moment i call queued (.attempt id left channels) store) := by
  have turned := arrive_turned sound owes rfl moment.outcome
  have idle := free_of_digests free (arrive_digests moment.outcome (call.eventKey .telegram) none)
  unfold dispatchTurn
  cases outcome : moment.outcome with
  | accepted =>
    rw [outcome] at turned idle
    exact ⟨turned, idle.relies trivial⟩
  | unreported => exact absurd outcome reported
  | refused =>
    dsimp only
    split
    · exact carried_reading sound free trivial
    · exact carried_reading sound free owes

theorem mail_carried {id : Nat} {recipients : List String} (distinct : recipients.Nodup)
    (owes : Owes i (call.eventKey .email) (· ∈ recipients.map some) store) (reported : moment.outcome ≠ .unreported) :
    Carried i store (dispatchTurn moment i call queued (.mail id recipients channels) store) := by
  cases recipients with
  | nil => exact carried_reading sound free trivial
  | cons recipient rest =>
    obtain ⟨absent, later⟩ := nodup_cons.mp distinct
    have turned := arrive_turned sound owes mem_cons_self moment.outcome
    have idle := free_of_digests free (arrive_digests moment.outcome (call.eventKey .email) (some recipient))
    unfold dispatchTurn
    cases outcome : moment.outcome with
    | accepted =>
      rw [outcome] at turned idle
      refine ⟨turned, idle.relies ⟨later, fun run => ⟨(owes run).1, fun other due known => ?_⟩⟩⟩
      rcases mem_cons.mp known with newest | earlier
      · obtain ⟨address, inside, named⟩ := mem_map.mp due
        have same : some address = some recipient := named.trans (congrArg Prod.snd newest)
        exact absent (Option.some.inj same ▸ inside)
      · exact (owes run).2 other (mem_cons_of_mem _ due) earlier
    | unreported => exact absurd outcome reported
    | refused =>
      exact carried_reading sound free trivial

theorem trigger_carried {id : Nat} (owes : Owes i (call.eventKey .webhook) (· = none) store) :
    Carried i store (dispatchTurn moment i call queued (.trigger id channels) store) := by
  unfold dispatchTurn
  dsimp only
  split
  · exact carried_reading sound free trivial
  · have idle : Free i (store.arrive .accepted (call.eventKey .webhook) none) :=
      free_of_digests free (arrive_digests _ _ _)
    exact ⟨arrive_turned sound owes rfl .accepted, idle.relies trivial⟩

theorem resolve_carried {id : Nat} (owes : Owes i (call.eventKey .email) (fun _ => True) store) :
    Carried i store (dispatchTurn moment i call queued (.resolve id channels) store) := by
  have mails (recipients : List String) (distinct : recipients.Nodup) :
      Carried i store (Task.dispatch call queued (.mail id recipients channels), store) :=
    carried_reading sound free ⟨distinct, owes.weaken fun _ _ => trivial⟩
  have skips : Carried i store (Task.dispatch call queued (.close id .skipped true channels), store) :=
    carried_reading sound free trivial
  unfold dispatchTurn
  dsimp only
  split
  · split
    · exact skips
    · exact mails _ (nodup_emailRecipients _ _ _ _)
  · split
    · exact skips
    · exact mails _ (nodup_maybeSendTo _ _ _)

theorem find_carried {recipient : Option String} {recipients : List (Option String)} :
    Carried i store (dispatchTurn moment i call queued (.find channel recipient recipients channels) store) := by
  refine carried_reading sound free ?_
  cases found : store.queuedDigest (call.digestKey channel recipient) with
  | none => trivial
  | some row =>
    have listed : row ∈ store.digests := mem_reverse.mp (List.mem_of_find?_eq_some found)
    have named := List.find?_some found
    rw [decide_eq_true_eq] at named
    exact ⟨row, listed, rfl, named.1⟩

end

theorem dispatch_carried {phase : DispatchPhase ι}
    (relies : Relies i (.dispatch call queued phase) store) (calm : Calm (.dispatch call queued phase) moment store)
    (runs : moment.runs = true) : Carried i store (dispatchTurn moment i call queued phase store) := by
  have free : Free i store := relies.free fun id delivers => delivers
  have stands := relies.phase
  cases phase with
  | queue channels =>
    cases channels with
    | nil => exact carried_reading sound free trivial
    | cons channel rest => exact carried_reading sound free (relies_nextRecipient channel _ rest)
  | find channel recipient recipients channels => exact find_carried sound free
  | append seen channel recipient recipients channels =>
    refine append_carried sound free stands fun row is => ?_
    subst is
    exact calm runs
  | route channels =>
    cases channels with
    | nil => exact carried_reading sound free trivial
    | cons channel rest =>
      unfold dispatchTurn
      dsimp only
      split
      · exact carried_reading sound free trivial
      · split
        · exact carried_reading sound free trivial
        · exact carried_reading sound free trivial
  | check channel channels =>
    unfold dispatchTurn
    dsimp only
    split
    · exact carried_reading sound free trivial
    · exact carried_reading sound free trivial
  | insert channel channels => exact insert_carried sound free (calm runs)
  | attempt id left channels => exact attempt_carried sound free stands calm
  | resolve id channels => exact resolve_carried sound free stands
  | mail id recipients channels => exact mail_carried sound free stands.1 stands.2 calm
  | trigger id channels => exact trigger_carried sound free stands
  | close id status caught channels =>
    have idle : Free i (store.finish id status) := free_of_digests free rfl
    exact ⟨finish_turned sound id status, idle.relies trivial⟩

end

variable {ids : List Nat}

section
variable (sound : Sound store)
include sound

theorem claim_carried (free : Free i store) {now : Nat} {seen : Digest ι} (open_ : IsOpen seen store) : Carried i store (flushTurn moment i now (.claim seen ids) store) := by
  obtain ⟨row, listed, named, items, status⟩ := open_
  have notSummarised : (row.id, row.items) ∉ store.summaries := by
    intro known
    obtain ⟨other, inside, id, -, stage⟩ := sound.summarised _ known
    rw [sound.same_row inside listed id] at stage
    rcases status with is | is <;> rw [is] at stage <;> rcases stage with wrong | wrong <;> cases wrong
  have notSending : row.status ≠ .sending := by rcases status with is | is <;> rw [is] <;> decide
  have turned := status_turned (i := i) sound listed (f := fun row => { row with status := .sending, sender := some i })
    (fun _ => by rfl) (fun _ => by rfl) (fun _ => by rfl) (fun wrong => absurd wrong notSending) (fun _ => rfl)
    (fun known => absurd known notSummarised) nofun
  rw [named] at turned
  refine ⟨turned, ?_, ?_⟩
  · intro left present sending sender
    obtain ⟨old, inside, rfl⟩ := mem_map.mp present
    split
    · next hit => exact hit.symm
    · next other =>
      rw [if_neg other] at sending sender
      exact absurd sender (free old inside sending)
  · refine ⟨⟨_, mem_map_of_mem listed, ?_⟩, fun known => ?_⟩
    · rw [if_pos named]
      exact ⟨named, rfl, rfl, items⟩
    · obtain ⟨summary, inside, id⟩ := mem_map.mp known
      obtain ⟨other, present, otherId, content, -⟩ := sound.summarised summary inside
      have same := sound.same_row present listed (otherId.trans (id.trans named.symm))
      refine notSummarised ?_
      rw [← same, content, otherId]
      exact inside

theorem send_carried {now id : Nat} {key : DigestKey} {items : List Item} (relies : Relies i (.flush now (.send id key items ids)) store) (reported : moment.outcome ≠ .unreported) :
    Carried i store (flushTurn moment i now (.send id key items ids) store) := by
  obtain ⟨held, none⟩ := relies.phase
  unfold flushTurn
  dsimp only
  split
  · have turned := summarise_turned sound held none moment.outcome
    cases outcome : moment.outcome with
    | accepted =>
      rw [outcome] at turned
      exact ⟨turned, relies.waiting, items, held, mem_cons_self⟩
    | unreported => exact absurd outcome reported
    | refused =>
      rw [outcome] at turned
      exact ⟨turned, relies.waiting, items, held, none⟩
  · exact ⟨Turned.refl sound, relies.waiting, items, held, none⟩

theorem finish_carried {now id : Nat} {ok : Bool} (relies : Relies i (.flush now (.finish id channel ok ids)) store) :
    Carried i store (flushTurn moment i now (.finish id channel ok ids) store) := by
  have only {after : Store ι} {row : Digest ι} (listed : row ∈ store.digests) (f : Digest ι → Digest ι)
      (is : after.digests = Rows.change Digest.id id f store.digests) (named : row.id = id)
      (done : (f row).status ≠ .sending) : Free i after := by
    intro left present sending sender
    rw [is] at present
    obtain ⟨old, inside, rfl⟩ := mem_map.mp present
    split at sending
    · next hit =>
      rw [sound.same_row inside listed (hit.trans named.symm)] at sending
      exact done sending
    · next other =>
      rw [if_neg other] at sender
      exact other (relies.waiting old inside sending sender).symm
  cases ok with
  | true =>
    obtain ⟨items, ⟨row, listed, named, sending, sender, content⟩, summarised⟩ := relies.phase
    have known : (row.id, row.items) ∈ store.summaries := by rw [named, content]; exact summarised
    have turned := status_turned (i := i) sound listed (f := fun row => { row with status := .completed })
      (fun _ => by rfl) (fun _ => by rfl) (fun _ => by rfl) (fun _ => sender) nofun
      (fun _ => .inr rfl) (fun _ => known)
    rw [named] at turned
    exact ⟨turned, (only listed _ rfl named (by exact DigestStatus.noConfusion)).relies trivial⟩
  | false =>
    obtain ⟨items, ⟨row, listed, named, sending, sender, content⟩, none⟩ := relies.phase
    have unknown : (row.id, row.items) ∉ store.summaries := fun known =>
      none (mem_map.mpr ⟨_, known, named⟩)
    have turned := status_turned (i := i) sound listed
      (f := fun row => { row with status := .failed, dueAt := moment.now + 3600 })
      (fun _ => by rfl) (fun _ => by rfl) (fun _ => by rfl) (fun _ => sender) nofun
      (fun known => absurd known unknown) nofun
    rw [named] at turned
    exact ⟨turned, (only listed _ rfl named (by exact DigestStatus.noConfusion)).relies trivial⟩

theorem flush_carried {now : Nat} {phase : FlushPhase ι}
    (relies : Relies i (.flush now phase) store) (calm : Calm (.flush now phase) moment store)
    (runs : moment.runs = true) : Carried i store (flushTurn moment i now phase store) := by
  cases phase with
  | list => exact carried_reading sound (relies.free fun id delivers => delivers) trivial
  | next ids =>
    have free : Free i store := relies.free fun id delivers => delivers
    cases ids with
    | nil => exact carried_reading sound free trivial
    | cons id ids =>
      unfold flushTurn
      dsimp only
      split
      · exact carried_reading sound free trivial
      · split
        · exact carried_reading sound free trivial
        · exact carried_reading sound free trivial
  | claim seen ids => exact claim_carried sound (relies.free fun id delivers => delivers) (calm runs)
  | send id key items ids => exact send_carried sound relies calm.2
  | finish id channel ok ids => exact finish_carried sound relies
  | insert channel ok ids =>
    have free : Free i store := relies.free fun id delivers => delivers
    have idle : Free i (store.record i { channel := channel, event := "backup.digest", runId := none }) :=
      free_of_digests free rfl
    exact ⟨record_turned sound rfl, idle.relies trivial⟩
  | close id status ids =>
    have free : Free i store := relies.free fun id delivers => delivers
    have idle : Free i (store.finish id status) := free_of_digests free rfl
    exact ⟨finish_turned sound id status, idle.relies trivial⟩

theorem raised_carried (relies : Relies i task store)
    (calm : Calm task moment store) (raises : moment.raises = true) : Carried i store (raised task, store) := by
  cases task with
  | idle => exact ⟨Turned.refl sound, relies⟩
  | dispatch call queued phase =>
    have free : Free i store := relies.free fun id delivers => delivers
    cases phase with
    | close id status caught channels => cases caught <;> exact carried_reading sound free trivial
    | _ => exact carried_reading sound free trivial
  | flush now phase =>
    cases phase with
    | send id key items ids => exact ⟨Turned.refl sound, relies.waiting, items, relies.phase⟩
    | finish id channel ok ids =>
      have runs : moment.runs = true := calm
      unfold Moment.runs at runs
      rw [raises, Bool.not_true, Bool.and_false] at runs
      cases runs
    | _ => exact carried_reading sound (relies.free fun id delivers => delivers) trivial

theorem stopped_carried (relies : Relies i task store)
    (calm : Calm task moment store) (stops : moment.stops = true) : Carried i store (.idle, store) := by
  cases task with
  | idle => exact ⟨Turned.refl sound, relies⟩
  | dispatch call queued phase => exact carried_reading sound (relies.free fun id delivers => delivers) trivial
  | flush now phase =>
    cases phase with
    | send id key items ids =>
      rw [calm.1] at stops
      cases stops
    | finish id channel ok ids =>
      have runs : moment.runs = true := calm
      unfold Moment.runs at runs
      rw [stops, Bool.not_true, Bool.false_and] at runs
      cases runs
    | _ => exact carried_reading sound (relies.free fun id delivers => delivers) trivial

end

theorem begins_relies (call : Call) (now : Nat) : (begins call now : Task ι).relies i store := by
  cases call with
  | dispatch call =>
    unfold begins
    dsimp only
    split
    · trivial
    · split
      · trivial
      · trivial
  | flush given => trivial

theorem advance_carried (sound : Sound store) (relies : Relies i task store)
    (calm : Calm task moment store) : Carried i store (advance i moment task store) := by
  unfold advance
  split
  · next stops => exact stopped_carried sound relies calm stops
  · next lives =>
    split
    · next raises => exact raised_carried sound relies calm raises
    · next fine =>
      have runs : moment.runs = true := by simp [Moment.runs, lives, fine]
      cases task with
      | idle => exact carried_reading sound (relies.free fun id delivers => delivers) (begins_relies _ _)
      | dispatch call queued phase => exact dispatch_carried sound relies calm runs
      | flush now phase => exact flush_carried sound relies calm runs

end

/-- Every event put into a digest is in one row, which is waiting, being sent by a live flush,
or completed with a summary of all it holds; it is in one summary at most; no row is being
sent without a live flush; and of a run each recipient got an event once at most. -/
structure Promised (server : Tasks.Server ι (Task ι) (Store ι)) : Prop where
  collected : ∀ entry ∈ server.store.collected, ∃ row ∈ server.store.digests,
    row.key = entry.2 ∧ row.items.count entry.1 = 1 ∧
    (∀ other ∈ server.store.digests, entry.1 ∈ other.items → other = row) ∧
    (row.status = .queued ∨ row.status = .failed ∨
      (row.status = .completed ∧ (row.id, row.items) ∈ server.store.summaries) ∨
      (row.status = .sending ∧ ∃ i, (server.task i).delivers row.id))
  summarisedOnce : ∀ item, (server.store.summaries.flatMap Prod.snd).count item ≤ 1
  sending : ∀ row ∈ server.store.digests, row.status = .sending → ∃ i, (server.task i).delivers row.id
  arrivedOnce : ∀ key recipient, key.runId ≠ none → server.store.arrived.count (key, recipient) ≤ 1

variable {store : Store ι}

theorem items_nodup (sound : Sound store) {row : Digest ι} (listed : row ∈ store.digests) :
    row.items.Nodup := (sound.once row listed).of_map Item.ticket

theorem summaries_nodup (sound : Sound store) : (store.summaries.flatMap Prod.snd).Nodup := by
  rw [nodup_flatMap]
  constructor
  · intro summary known
    obtain ⟨row, listed, -, items, -⟩ := sound.summarised summary known
    rw [← items]
    exact items_nodup sound listed
  · have distinct : store.summaries.Pairwise fun first second => first.1 ≠ second.1 :=
      pairwise_map.mp sound.summaryIds
    refine distinct.imp_of_mem fun {first second} known found different item inside within => different ?_
    obtain ⟨row, listed, id, items, -⟩ := sound.summarised first known
    obtain ⟨other, present, otherId, otherItems, -⟩ := sound.summarised second found
    rw [← id, ← otherId]
    exact sound.apart row listed other present item (items ▸ inside) item (otherItems ▸ within) rfl

theorem arrived_le_one (sound : Sound store) {key : EventKey} (run : key.runId ≠ none)
    (recipient : Option String) : store.arrived.count (key, recipient) ≤ 1 := by
  have once := nodup_iff_count_le_one.mp sound.arrivedOnce (key, recipient)
  have same := count_filter (p := fun arrival : EventKey × Option String => arrival.1.runId.isSome)
    (a := (key, recipient)) (l := store.arrived) (Option.isSome_iff_ne_none.mpr run)
  rwa [same] at once

variable [DecidableEq ι]

/-- Nothing is sent yet and no call is on. -/
def newServer : Tasks.Server ι (Task ι) (Store ι) where
  store := { digests := [], deliveries := [], collected := [], summaries := [], arrived := [] }
  task := fun _ => .idle

omit [DecidableEq ι] in
theorem newServer_holds : Tasks.Holds Sound Relies (newServer : Tasks.Server ι (Task ι) (Store ι)) := by
  constructor
  · constructor <;> first | exact nodup_nil | exact fun _ wrong => absurd wrong not_mem_nil
  · intro i
    exact { waiting := fun _ wrong => absurd wrong not_mem_nil, phase := trivial }

/-- Whatever the calls do in whatever order, if each turn finds what it has to. -/
theorem notices_promised {server : Tasks.Server ι (Task ι) (Store ι)}
    (reached : Tasks.Reaches advance (fun server who => Calm (server.task who.1) who.2 server.store) newServer server) :
    Promised server := by
  have holds : Tasks.Holds Sound Relies server := by
    refine Tasks.Reaches.holds_at newServer_holds (fun server who calm holds => ?_) reached
    obtain ⟨⟨sound, leaves⟩, own⟩ := advance_carried holds.shared (holds.relied who.1) calm
    exact ⟨sound, own, fun j different => (holds.relied j).leaves holds.shared different leaves⟩
  have sound := holds.shared
  have waiting (row : Digest ι) (listed : row ∈ server.store.digests) (sending : row.status = .sending) :
      ∃ i, (server.task i).delivers row.id := by
    obtain ⟨i, sender⟩ := Option.ne_none_iff_exists'.mp (sound.held row listed sending)
    exact ⟨i, (holds.relied i).waiting row listed sending sender⟩
  constructor
  · intro entry collected
    obtain ⟨row, listed, key, inside⟩ := sound.kept entry collected
    refine ⟨row, listed, key, List.count_eq_one_of_mem (items_nodup sound listed) inside, ?_, ?_⟩
    · intro other present within
      exact sound.same_row present listed (sound.apart other present row listed _ within _ inside rfl)
    · cases status : row.status with
      | queued => exact .inl rfl
      | failed => exact .inr (.inl rfl)
      | completed => exact .inr (.inr (.inl ⟨rfl, sound.completed row listed status⟩))
      | sending => exact .inr (.inr (.inr ⟨rfl, waiting row listed status⟩))
  · intro item
    exact List.nodup_iff_count_le_one.mp (summaries_nodup sound) item
  · exact waiting
  · intro key recipient run
    exact arrived_le_one sound run recipient

def botSettings : Settings where
  senderAddress := none
  disabledEvents := []
  contact := fun _ => none
  adminEmail := none
  telegramEnabled := true
  telegramEvents := ["backup.completed"]
  telegramToken := some "token"
  chatId := some "1"
  webhooks := fun _ => []

def dailyEvent : Dispatch where
  event := "backup.completed"
  account := some "demo1"
  channels := [.telegram]
  selected := none
  frequency := .daily
  policyId := some 1
  jobId := some 7
  recipients := []
  detail := ""

def at_ (call : Call) (now : Nat) : Moment :=
  { call := call, stops := false, raises := false, now := now, settings := botSettings, outcome := .accepted }

def collecting : Unit × Moment := ((), at_ (.dispatch dailyEvent) 0)

theorem notices_promised_applied : Promised ((newServer : Tasks.Server Unit (Task Unit) (Store Unit)).after advance
      [collecting, collecting, collecting, collecting]) := by
  refine notices_promised ?_
  refine .next collecting (.next collecting (.next collecting (.next collecting .start ?_) ?_) ?_) ?_
  · trivial
  · trivial
  · trivial
  · trivial

/-- A flush that stops when it has turned a row to sending leaves it there. -/
theorem sending_abandoned : ∃ server : Tasks.Server Unit (Task Unit) (Store Unit),
    Tasks.Reaches advance (fun _ _ => True) newServer server ∧ (∀ i, server.task i = .idle) ∧
      ∃ row ∈ server.store.digests, row.status = .sending := by
  let flushing : List (Unit × Moment) :=
    List.replicate 7 collecting ++ List.replicate 4 ((), at_ (.flush none) (2 * day)) ++
      [((), { at_ (.flush none) (2 * day) with stops := true })]
  refine ⟨newServer.after advance flushing, Tasks.Reaches.after .start flushing, fun _ => rfl, ?_⟩
  exact ⟨_, List.mem_singleton_self _, rfl⟩

end Boron.Notices
