import Boron.Notices.Turns

namespace Boron.Notices
open List Rows
variable {ι : Type}

/-- Every event that was collected is in one row, a row is summarised once, with all its items
and not before it is sent, and what arrived of a run is recorded and arrived once. -/
structure Sound (store : Store ι) : Prop where
  ids : Rows.Unique Digest.id store.digests
  fresh : ∀ row ∈ store.digests, ∀ item ∈ row.items, item.ticket < store.collected.length
  once : ∀ row ∈ store.digests, (row.items.map Item.ticket).Nodup
  apart : ∀ row ∈ store.digests, ∀ other ∈ store.digests, ∀ item ∈ row.items, ∀ twin ∈ other.items,
    item.ticket = twin.ticket → row.id = other.id
  kept : ∀ entry ∈ store.collected, ∃ row ∈ store.digests, row.key = entry.2 ∧ entry.1 ∈ row.items
  held : ∀ row ∈ store.digests, row.status = .sending → row.sender ≠ none
  summaryIds : Rows.Unique Prod.fst store.summaries
  summarised : ∀ summary ∈ store.summaries, ∃ row ∈ store.digests, row.id = summary.1 ∧ row.items = summary.2 ∧
    (row.status = .sending ∨ row.status = .completed)
  completed : ∀ row ∈ store.digests, row.status = .completed → (row.id, row.items) ∈ store.summaries
  owners : ∀ row ∈ store.deliveries, ∀ other ∈ store.deliveries, row.key = other.key → row.key.runId ≠ none →
    row.owner = other.owner
  arrivedOnce : (store.arrived.filter fun arrival => arrival.1.runId.isSome).Nodup
  recorded : ∀ arrival ∈ store.arrived, arrival.1.runId ≠ none → ∃ row ∈ store.deliveries, row.key = arrival.1

def Held (i : ι) (id : Nat) (items : List Item) (store : Store ι) : Prop :=
  ∃ row ∈ store.digests, row.id = id ∧ row.status = .sending ∧ row.sender = some i ∧ row.items = items

/-- An event of a run that a task has recorded, and to whom it has still to go. -/
def Owes (i : ι) (key : EventKey) (owed : Option String → Prop) (store : Store ι) : Prop :=
  key.runId ≠ none →
    (∃ row ∈ store.deliveries, row.key = key ∧ row.owner = i) ∧ ∀ recipient, owed recipient → (key, recipient) ∉ store.arrived

def Task.relies (i : ι) (task : Task ι) (store : Store ι) : Prop :=
  match task with
  | .flush _ (.send id _ items _) => Held i id items store ∧ id ∉ store.summaries.map Prod.fst
  | .flush _ (.finish id _ true _) => ∃ items, Held i id items store ∧ (id, items) ∈ store.summaries
  | .flush _ (.finish id _ false _) => ∃ items, Held i id items store ∧ id ∉ store.summaries.map Prod.fst
  | .dispatch call _ (.append (some seen) channel recipient _ _) =>
    ∃ row ∈ store.digests, row.id = seen.id ∧ row.key = call.digestKey channel recipient
  | .dispatch call _ (.attempt _ _ _) => Owes i (call.eventKey .telegram) (· = none) store
  | .dispatch call _ (.resolve _ _) => Owes i (call.eventKey .email) (fun _ => True) store
  | .dispatch call _ (.mail _ recipients _) =>
    recipients.Nodup ∧ Owes i (call.eventKey .email) (· ∈ recipients.map some) store
  | .dispatch call _ (.trigger _ _) => Owes i (call.eventKey .webhook) (· = none) store
  | _ => True

structure Relies (i : ι) (task : Task ι) (store : Store ι) : Prop where
  waiting : ∀ row ∈ store.digests, row.status = .sending → row.sender = some i → task.delivers row.id
  phase : task.relies i store

structure Leaves (i : ι) (before after : Store ι) : Prop where
  sending : ∀ row ∈ after.digests, row.status = .sending → row.sender ≠ some i → row ∈ before.digests
  others : ∀ row ∈ before.digests, row.status = .sending → row.sender ≠ some i → row ∈ after.digests
  keys : ∀ row ∈ before.digests, ∃ left ∈ after.digests, left.id = row.id ∧ left.key = row.key
  summaries : before.summaries ⊆ after.summaries
  newSummaries : ∀ summary ∈ after.summaries, summary ∈ before.summaries ∨ Held i summary.1 summary.2 before
  deliveries : ∀ row ∈ before.deliveries, ∃ left ∈ after.deliveries, left.key = row.key ∧ left.owner = row.owner
  arrivals : ∀ arrival ∈ after.arrived, arrival ∈ before.arrived ∨ arrival.1.runId = none ∨
    ∃ row ∈ before.deliveries, row.key = arrival.1 ∧ row.owner = i

theorem Leaves.refl (i : ι) (store : Store ι) : Leaves i store store where
  sending _ listed _ _ := listed
  others _ listed _ _ := listed
  keys row listed := ⟨row, listed, rfl, rfl⟩
  summaries := Subset.refl _
  newSummaries _ listed := .inl listed
  deliveries row listed := ⟨row, listed, rfl, rfl⟩
  arrivals _ listed := .inl listed

section
variable {i j : ι} {before after : Store ι}

theorem Sound.same_row (sound : Sound before) {row other : Digest ι} (listed : row ∈ before.digests)
    (present : other ∈ before.digests) (same : row.id = other.id) : row = other :=
  inj_on_of_nodup_map sound.ids listed present same

theorem Leaves.held (leaves : Leaves i before after) (different : j ≠ i) {id : Nat} {items : List Item}
    (held : Held j id items before) : Held j id items after := by
  obtain ⟨row, listed, named, sending, sender, content⟩ := held
  have notMine : row.sender ≠ some i := by
    rw [sender]
    exact fun same => different (Option.some.inj same)
  exact ⟨row, leaves.others row listed sending notMine, named, sending, sender, content⟩

theorem Leaves.unsummarised (leaves : Leaves i before after) (sound : Sound before) (different : j ≠ i) {id : Nat}
    {items : List Item} (held : Held j id items before) (none : id ∉ before.summaries.map Prod.fst) :
    id ∉ after.summaries.map Prod.fst := by
  intro member
  obtain ⟨summary, listed, named⟩ := mem_map.mp member
  rcases leaves.newSummaries summary listed with earlier | mine
  · exact none (mem_map.mpr ⟨summary, earlier, named⟩)
  · obtain ⟨row, present, rowId, _, sender, _⟩ := held
    obtain ⟨other, inside, otherId, _, otherSender, _⟩ := mine
    have same := sound.same_row present inside (rowId.trans (named.symm.trans otherId.symm))
    rw [same, otherSender] at sender
    exact different (Option.some.inj sender).symm

theorem Leaves.owes (leaves : Leaves i before after) (sound : Sound before) (different : j ≠ i) {key : EventKey}
    {owed : Option String → Prop} (owes : Owes j key owed before) : Owes j key owed after := by
  intro run
  obtain ⟨⟨row, listed, named, owner⟩, silent⟩ := owes run
  obtain ⟨left, present, sameKey, sameOwner⟩ := leaves.deliveries row listed
  refine ⟨⟨left, present, sameKey.trans named, sameOwner.trans owner⟩, fun recipient due member => ?_⟩
  rcases leaves.arrivals _ member with earlier | none | ⟨other, inside, otherKey, otherOwner⟩
  · exact silent recipient due earlier
  · exact run none
  · have same := sound.owners row listed other inside (named.trans otherKey.symm) (by rw [named]; exact run)
    rw [owner, otherOwner] at same
    exact different same

/-- What a task relies on outlasts the turns of the others. -/
theorem Relies.leaves {task : Task ι} (relies : Relies j task before) (sound : Sound before) (different : j ≠ i)
    (leaves : Leaves i before after) : Relies j task after := by
  constructor
  · intro row listed sending sender
    refine relies.waiting row (leaves.sending row listed sending ?_) sending sender
    rw [sender]
    exact fun same => different (Option.some.inj same)
  · have phase := relies.phase
    cases task with
    | idle => trivial
    | flush now flushing =>
      cases flushing with
      | send id key items ids => exact ⟨leaves.held different phase.1, leaves.unsummarised sound different phase.1 phase.2⟩
      | finish id channel ok ids =>
        cases ok with
        | true =>
          obtain ⟨items, held, summarised⟩ := phase
          exact ⟨items, leaves.held different held, leaves.summaries summarised⟩
        | false =>
          obtain ⟨items, held, none⟩ := phase
          exact ⟨items, leaves.held different held, leaves.unsummarised sound different held none⟩
      | _ => trivial
    | dispatch call queued dispatching =>
      cases dispatching with
      | append seen channel recipient recipients channels =>
        cases seen with
        | none => trivial
        | some seen =>
          obtain ⟨row, listed, named, key⟩ := phase
          obtain ⟨left, present, sameId, sameKey⟩ := leaves.keys row listed
          exact ⟨left, present, sameId.trans named, sameKey.trans key⟩
      | attempt id left channels => exact leaves.owes sound different phase
      | resolve id channels => exact leaves.owes sound different phase
      | mail id recipients channels => exact ⟨phase.1, leaves.owes sound different phase.2⟩
      | trigger id channels => exact leaves.owes sound different phase
      | _ => trivial

/-- A turn that kept the tables sound and left the others alone. -/
def Turned (i : ι) (before after : Store ι) : Prop := Sound after ∧ Leaves i before after

end

section
variable {store : Store ι} {i : ι}

theorem Turned.refl (sound : Sound store) : Turned i store store := ⟨sound, Leaves.refl i store⟩

theorem newDigest_turned (sound : Sound store) (key : DigestKey) (item : Item) (dueAt : Nat) :
    Turned i store (store.newDigest key item dueAt) := by
  have opened {row : Digest ι} (listed : row ∈ (store.newDigest key item dueAt).digests) :
      row ∈ store.digests ∨ row = store.openedDigest key item dueAt := by
    rcases mem_append.mp listed with earlier | newest
    · exact .inl earlier
    · exact .inr (mem_singleton.mp newest)
  have kept {row : Digest ι} (listed : row ∈ store.digests) : row ∈ (store.newDigest key item dueAt).digests :=
    mem_append_left _ listed
  have longer : (store.newDigest key item dueAt).collected.length = store.collected.length + 1 := length_append
  have content {twin : Item} (inside : twin ∈ (store.openedDigest key item dueAt).items) :
      twin.ticket = store.collected.length := by rw [mem_singleton.mp inside]; rfl
  constructor
  · constructor
    · refine unique_append sound.ids fun other listed same => ?_
      have bound : other.id < Rows.next Digest.id store.digests := lt_next listed
      exact absurd same (Nat.ne_of_lt bound)
    · intro row listed twin inside
      rw [longer]
      rcases opened listed with earlier | rfl
      · exact Nat.lt_succ_of_lt (sound.fresh row earlier twin inside)
      · rw [content inside]
        exact Nat.lt_succ_self _
    · intro row listed
      rcases opened listed with earlier | rfl
      · exact sound.once row earlier
      · exact nodup_singleton _
    · intro row listed other present one inside two within same
      rcases opened listed with earlier | rfl
      · rcases opened present with older | rfl
        · exact sound.apart row earlier other older one inside two within same
        · have bound := sound.fresh row earlier one inside
          rw [same, content within] at bound
          exact absurd bound (Nat.lt_irrefl _)
      · rcases opened present with older | rfl
        · have bound := sound.fresh other older two within
          rw [← same, content inside] at bound
          exact absurd bound (Nat.lt_irrefl _)
        · rfl
    · intro entry listed
      rcases mem_append.mp listed with earlier | newest
      · obtain ⟨row, inside, holds⟩ := sound.kept entry earlier
        exact ⟨row, kept inside, holds⟩
      · rw [mem_singleton.mp newest]
        exact ⟨_, mem_append_right _ (mem_singleton_self _), rfl, mem_singleton_self _⟩
    · intro row listed sending
      rcases opened listed with earlier | rfl
      · exact sound.held row earlier sending
      · cases sending
    · exact sound.summaryIds
    · intro summary listed
      obtain ⟨row, inside, holds⟩ := sound.summarised summary listed
      exact ⟨row, kept inside, holds⟩
    · intro row listed complete
      rcases opened listed with earlier | rfl
      · exact sound.completed row earlier complete
      · cases complete
    · exact sound.owners
    · exact sound.arrivedOnce
    · exact sound.recorded
  · refine { Leaves.refl i store with sending := ?_, others := ?_, keys := ?_ }
    · intro row listed sending _
      rcases opened listed with earlier | rfl
      · exact earlier
      · cases sending
    · exact fun row listed _ _ => kept listed
    · exact fun row listed => ⟨row, kept listed, rfl, rfl⟩

variable {row : Digest ι}

theorem mem_changeDigest (sound : Sound store) (listed : row ∈ store.digests) (f : Digest ι → Digest ι)
    {left : Digest ι} (present : left ∈ (store.changeDigest row.id f).digests) :
    left = f row ∨ (left ∈ store.digests ∧ left.id ≠ row.id) := by
  obtain ⟨old, inside, rfl⟩ := mem_map.mp present
  by_cases same : old.id = row.id
  · left
    rw [if_pos same, sound.same_row inside listed same]
  · right
    rw [if_neg same]
    exact ⟨inside, same⟩

theorem changed_mem (listed : row ∈ store.digests) (f : Digest ι → Digest ι) :
    f row ∈ (store.changeDigest row.id f).digests :=
  mem_map.mpr ⟨row, listed, if_pos rfl⟩

theorem unchanged_mem {row other : Digest ι} (listed : other ∈ store.digests) (different : other.id ≠ row.id)
    (f : Digest ι → Digest ι) : other ∈ (store.changeDigest row.id f).digests :=
  mem_map.mpr ⟨other, listed, if_neg different⟩

section
variable (sound : Sound store)
include sound

theorem status_turned (listed : row ∈ store.digests) {f : Digest ι → Digest ι}
    (sameId : ∀ row, (f row).id = row.id) (sameKey : ∀ row, (f row).key = row.key)
    (sameItems : ∀ row, (f row).items = row.items)
    (mine : row.status = .sending → row.sender = some i) (keeps : (f row).status = .sending → (f row).sender = some i)
    (summarised : (row.id, row.items) ∈ store.summaries → (f row).status = .sending ∨ (f row).status = .completed)
    (completed : (f row).status = .completed → (row.id, row.items) ∈ store.summaries) :
    Turned i store (store.changeDigest row.id f) := by
  have origin {left : Digest ι} (present : left ∈ (store.changeDigest row.id f).digests) :
      ∃ old ∈ store.digests, left.id = old.id ∧ left.key = old.key ∧ left.items = old.items := by
    rcases mem_changeDigest sound listed f present with rfl | ⟨inside, -⟩
    · exact ⟨row, listed, sameId row, sameKey row, sameItems row⟩
    · exact ⟨left, inside, rfl, rfl, rfl⟩
  have image {old : Digest ι} (inside : old ∈ store.digests) :
      ∃ left ∈ (store.changeDigest row.id f).digests, left.id = old.id ∧ left.key = old.key ∧ left.items = old.items ∧
        (left = old ∨ old = row ∧ left = f row) := by
    by_cases same : old.id = row.id
    · have equal := sound.same_row inside listed same
      subst equal
      exact ⟨f old, changed_mem listed f, sameId old, sameKey old, sameItems old, .inr ⟨rfl, rfl⟩⟩
    · exact ⟨old, unchanged_mem inside same f, rfl, rfl, rfl, .inl rfl⟩
  constructor
  · constructor
    · exact unique_change sameId sound.ids
    · intro left present item inside
      obtain ⟨old, known, -, -, items⟩ := origin present
      exact sound.fresh old known item (items ▸ inside)
    · intro left present
      obtain ⟨old, known, -, -, items⟩ := origin present
      rw [items]
      exact sound.once old known
    · intro left present other alike item inside twin within same
      obtain ⟨old, known, id, -, items⟩ := origin present
      obtain ⟨older, found, otherId, -, otherItems⟩ := origin alike
      rw [id, otherId]
      exact sound.apart old known older found item (items ▸ inside) twin (otherItems ▸ within) same
    · intro entry collected
      obtain ⟨old, known, key, inside⟩ := sound.kept entry collected
      obtain ⟨left, present, -, leftKey, items, -⟩ := image known
      exact ⟨left, present, leftKey.trans key, items ▸ inside⟩
    · intro left present sending
      rcases mem_changeDigest sound listed f present with rfl | ⟨inside, -⟩
      · rw [keeps sending]
        exact Option.some_ne_none i
      · exact sound.held left inside sending
    · exact sound.summaryIds
    · intro summary known
      obtain ⟨old, inside, id, items, status⟩ := sound.summarised summary known
      obtain ⟨left, present, leftId, -, leftItems, which⟩ := image inside
      refine ⟨left, present, leftId.trans id, leftItems.trans items, ?_⟩
      rcases which with rfl | ⟨rfl, rfl⟩
      · exact status
      · refine summarised ?_
        rw [id, items]
        exact known
    · intro left present complete
      rcases mem_changeDigest sound listed f present with rfl | ⟨inside, -⟩
      · rw [sameId, sameItems]
        exact completed complete
      · exact sound.completed left inside complete
    · exact sound.owners
    · exact sound.arrivedOnce
    · exact sound.recorded
  · refine { Leaves.refl i store with sending := ?_, others := ?_, keys := ?_ }
    · intro left present sending sender
      rcases mem_changeDigest sound listed f present with rfl | ⟨inside, -⟩
      · exact absurd (keeps sending) sender
      · exact inside
    · intro old inside sending sender
      refine unchanged_mem inside (fun same => sender ?_) f
      rw [sound.same_row inside listed same] at sending ⊢
      exact mine sending
    · intro old inside
      obtain ⟨left, present, id, key, -, -⟩ := image inside
      exact ⟨left, present, id, key⟩

theorem appendItem_turned {seen row : Digest ι} (listed : row ∈ store.digests)
    (sameId : row.id = seen.id) (sameItems : row.items = seen.items)
    (open_ : row.status = .queued ∨ row.status = .failed) (item : Item) :
    Turned i store (store.appendItem row.key seen item) := by
  have notSending : row.status ≠ .sending := by rcases open_ with status | status <;> rw [status] <;> decide
  have notCompleted : row.status ≠ .completed := by rcases open_ with status | status <;> rw [status] <;> decide
  obtain ⟨grown, is⟩ : ∃ grown : Digest ι, grown = { row with items := row.items ++ [store.ticketed item] } := ⟨_, rfl⟩
  have table {left : Digest ι} : left ∈ (store.appendItem row.key seen item).digests ↔
      left = grown ∨ left ∈ store.digests ∧ left.id ≠ row.id := by
    rw [is]
    constructor
    · intro present
      obtain ⟨old, inside, rfl⟩ := mem_map.mp present
      by_cases same : old.id = seen.id
      · left
        rw [if_pos same, sound.same_row inside listed (same.trans sameId.symm), sameItems]
      · right
        rw [if_neg same, sameId]
        exact ⟨inside, same⟩
    · rintro (rfl | ⟨inside, different⟩)
      · refine mem_map.mpr ⟨row, listed, ?_⟩
        rw [if_pos sameId, sameItems]
      · rw [sameId] at different
        exact mem_map.mpr ⟨left, inside, if_neg different⟩
  have longer : (store.appendItem row.key seen item).collected.length = store.collected.length + 1 := length_append
  have grownItems {twin : Item} (inside : twin ∈ grown.items) :
      twin ∈ row.items ∨ twin.ticket = store.collected.length := by
    rw [is] at inside
    rcases mem_append.mp inside with earlier | newest
    · exact .inl earlier
    · right
      rw [mem_singleton.mp newest]
      rfl
  have grownId : grown.id = row.id := by rw [is]
  have grownStatus : grown.status = row.status := by rw [is]
  constructor
  · constructor
    · exact unique_change (fun _ => by rfl) sound.ids
    · intro left present twin inside
      rw [longer]
      rcases table.mp present with rfl | ⟨known, -⟩
      · rcases grownItems inside with earlier | newest
        · exact Nat.lt_succ_of_lt (sound.fresh row listed twin earlier)
        · rw [newest]
          exact Nat.lt_succ_self _
      · exact Nat.lt_succ_of_lt (sound.fresh left known twin inside)
    · intro left present
      rcases table.mp present with rfl | ⟨known, -⟩
      · rw [is]
        simp only [map_append, map_singleton]
        refine Nodup.append (sound.once row listed) (nodup_singleton _) fun ticket earlier newest => ?_
        obtain ⟨twin, inside, same⟩ := mem_map.mp earlier
        have bound := sound.fresh row listed twin inside
        rw [same, mem_singleton.mp newest] at bound
        exact absurd bound (Nat.lt_irrefl _)
      · exact sound.once left known
    · intro left present other alike one inside two within same
      rcases table.mp present with rfl | ⟨known, different⟩
      · rcases table.mp alike with rfl | ⟨found, apart⟩
        · rfl
        · rcases grownItems inside with earlier | newest
          · rw [grownId]
            exact sound.apart row listed other found one earlier two within same
          · have bound := sound.fresh other found two within
            rw [← same, newest] at bound
            exact absurd bound (Nat.lt_irrefl _)
      · rcases table.mp alike with rfl | ⟨found, -⟩
        · rcases grownItems within with earlier | newest
          · rw [grownId]
            exact sound.apart left known row listed one inside two earlier same
          · have bound := sound.fresh left known one inside
            rw [same, newest] at bound
            exact absurd bound (Nat.lt_irrefl _)
        · exact sound.apart left known other found one inside two within same
    · intro entry collected
      rcases mem_append.mp collected with earlier | newest
      · obtain ⟨old, known, key, inside⟩ := sound.kept entry earlier
        by_cases same : old.id = row.id
        · have equal := sound.same_row known listed same
          refine ⟨grown, table.mpr (.inl rfl), ?_, ?_⟩
          · rw [is, ← key, equal]
          · rw [is]
            exact mem_append_left _ (equal ▸ inside)
        · exact ⟨old, table.mpr (.inr ⟨known, same⟩), key, inside⟩
      · rw [mem_singleton.mp newest]
        refine ⟨grown, table.mpr (.inl rfl), by rw [is], ?_⟩
        rw [is]
        exact mem_append_right _ (mem_singleton_self _)
    · intro left present sending
      rcases table.mp present with rfl | ⟨known, -⟩
      · exact absurd (grownStatus.symm.trans sending) notSending
      · exact sound.held left known sending
    · exact sound.summaryIds
    · intro summary known
      obtain ⟨old, inside, id, items, status⟩ := sound.summarised summary known
      have different : old.id ≠ row.id := by
        intro same
        rw [sound.same_row inside listed same] at status
        rcases status with sending | complete
        · exact notSending sending
        · exact notCompleted complete
      exact ⟨old, table.mpr (.inr ⟨inside, different⟩), id, items, status⟩
    · intro left present complete
      rcases table.mp present with rfl | ⟨known, -⟩
      · exact absurd (grownStatus.symm.trans complete) notCompleted
      · exact sound.completed left known complete
    · exact sound.owners
    · exact sound.arrivedOnce
    · exact sound.recorded
  · refine { Leaves.refl i store with sending := ?_, others := ?_, keys := ?_ }
    · intro left present sending _
      rcases table.mp present with rfl | ⟨known, -⟩
      · exact absurd (grownStatus.symm.trans sending) notSending
      · exact known
    · intro old inside sending _
      refine table.mpr (.inr ⟨inside, fun same => notSending ?_⟩)
      rw [← sound.same_row inside listed same]
      exact sending
    · intro old inside
      by_cases same : old.id = row.id
      · refine ⟨grown, table.mpr (.inl rfl), grownId.trans same.symm, ?_⟩
        rw [is, sound.same_row inside listed same]
      · exact ⟨old, table.mpr (.inr ⟨inside, same⟩), rfl, rfl⟩

theorem summarise_turned {id : Nat} {items : List Item} (held : Held i id items store)
    (none : id ∉ store.summaries.map Prod.fst) (outcome : Outcome) :
    Turned i store (store.summarise outcome id items) := by
  unfold Store.summarise
  split
  · constructor
    · refine { sound with summaryIds := ?_, summarised := ?_, completed := ?_ }
      · exact nodup_cons.mpr ⟨none, sound.summaryIds⟩
      · intro summary known
        rcases mem_cons.mp known with rfl | earlier
        · obtain ⟨row, listed, named, sending, -, content⟩ := held
          exact ⟨row, listed, named, content, .inl sending⟩
        · exact sound.summarised summary earlier
      · intro row listed complete
        exact mem_cons_of_mem _ (sound.completed row listed complete)
    · refine { Leaves.refl i store with summaries := ?_, newSummaries := ?_ }
      · exact subset_cons_self _ _
      · intro summary known
        rcases mem_cons.mp known with rfl | earlier
        · exact .inr held
        · exact .inl earlier
  · exact Turned.refl sound

theorem record_turned {key : EventKey} (fresh : store.recorded key = false) :
    Turned i store (store.record i key) := by
  have unknown : key.runId ≠ none → ∀ row ∈ store.deliveries, row.key ≠ key := by
    intro run row listed same
    unfold Store.recorded at fresh
    rw [Option.isSome_iff_ne_none.mpr run, Bool.true_and, any_eq_false] at fresh
    exact fresh row listed (decide_eq_true same)
  constructor
  · refine { sound with owners := ?_, recorded := ?_ }
    · intro row listed other present same run
      rcases mem_append.mp listed with earlier | newest
      · rcases mem_append.mp present with older | newer
        · exact sound.owners row earlier other older same run
        · rw [mem_singleton.mp newer] at same
          rw [same] at run
          exact absurd same (unknown run row earlier)
      · rw [mem_singleton.mp newest] at same run ⊢
        rcases mem_append.mp present with older | newer
        · exact absurd same.symm (unknown run other older)
        · rw [mem_singleton.mp newer]
    · intro arrival known run
      obtain ⟨row, listed, named⟩ := sound.recorded arrival known run
      exact ⟨row, mem_append_left _ listed, named⟩
  · exact { Leaves.refl i store with
      deliveries := fun row listed => ⟨row, mem_append_left _ listed, rfl, rfl⟩ }

theorem finish_turned (id : Nat) (status : DeliveryStatus) : Turned i store (store.finish id status) := by
  have origin {left : Delivery ι} (present : left ∈ (store.finish id status).deliveries) :
      ∃ row ∈ store.deliveries, left.key = row.key ∧ left.owner = row.owner := by
    obtain ⟨row, listed, rfl⟩ := mem_map.mp present
    refine ⟨row, listed, ?_⟩
    split
    · exact ⟨rfl, rfl⟩
    · exact ⟨rfl, rfl⟩
  have image {row : Delivery ι} (listed : row ∈ store.deliveries) :
      ∃ left ∈ (store.finish id status).deliveries, left.key = row.key ∧ left.owner = row.owner := by
    refine ⟨_, mem_map_of_mem listed, ?_⟩
    split
    · exact ⟨rfl, rfl⟩
    · exact ⟨rfl, rfl⟩
  constructor
  · refine { sound with owners := ?_, recorded := ?_ }
    · intro left present other alike same run
      obtain ⟨row, listed, key, owner⟩ := origin present
      obtain ⟨twin, inside, otherKey, otherOwner⟩ := origin alike
      rw [owner, otherOwner]
      exact sound.owners row listed twin inside (key.symm.trans (same.trans otherKey)) (key ▸ run)
    · intro arrival known run
      obtain ⟨row, listed, named⟩ := sound.recorded arrival known run
      obtain ⟨left, present, key, -⟩ := image listed
      exact ⟨left, present, key.trans named⟩
  · exact { Leaves.refl i store with deliveries := fun row listed => image listed }

theorem arrive_turned {key : EventKey} {owed : Option String → Prop} {recipient : Option String}
    (owes : Owes i key owed store) (due : owed recipient) (outcome : Outcome) :
    Turned i store (store.arrive outcome key recipient) := by
  unfold Store.arrive
  split
  · constructor
    · refine { sound with arrivedOnce := ?_, recorded := ?_ }
      · by_cases run : key.runId = none
        · rw [filter_cons_of_neg (by simp [run])]
          exact sound.arrivedOnce
        · rw [filter_cons_of_pos (by simpa [Option.isSome_iff_ne_none] using run)]
          refine nodup_cons.mpr ⟨fun earlier => ?_, sound.arrivedOnce⟩
          exact (owes run).2 recipient due (mem_of_mem_filter earlier)
      · intro arrival known run
        rcases mem_cons.mp known with rfl | earlier
        · obtain ⟨row, listed, named, -⟩ := (owes run).1
          exact ⟨row, listed, named⟩
        · exact sound.recorded arrival earlier run
    · refine { Leaves.refl i store with arrivals := ?_ }
      intro arrival known
      rcases mem_cons.mp known with rfl | earlier
      · by_cases run : key.runId = none
        · exact .inr (.inl run)
        · exact .inr (.inr (owes run).1)
      · exact .inl earlier
  · exact Turned.refl sound

end

end

end Boron.Notices
