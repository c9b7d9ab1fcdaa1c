import Boron.SnapshotJobs.Store
import Boron.Lib.Ranking
import Mathlib.Data.List.Lex

namespace Boron.SnapshotJobs
open List

def bucketsOf (bucket : Stamp → List Int) (items : List Snapshot) : Finset (List Int) :=
  (items.map fun item => bucket item.stamp).toFinset

variable {bucket : Stamp → List Int}

theorem mem_bucketsOf {items : List Snapshot} {b : List Int} :
    b ∈ bucketsOf bucket items ↔ ∃ item ∈ items, bucket item.stamp = b := by
  unfold bucketsOf
  rw [mem_toFinset, mem_map]

theorem bucketsOf_cons (bucket : Stamp → List Int) (item : Snapshot) (items : List Snapshot) :
    bucketsOf bucket (item :: items) = insert (bucket item.stamp) (bucketsOf bucket items) := by
  unfold bucketsOf
  rw [map_cons, toFinset_cons]

theorem bucketsOf_subset {items more : List Snapshot} (subset : items ⊆ more) :
    bucketsOf bucket items ⊆ bucketsOf bucket more := by
  intro b member
  obtain ⟨item, inside, named⟩ := mem_bucketsOf.mp member
  exact mem_bucketsOf.mpr ⟨item, subset inside, named⟩

/-- The recovery points that rank before an item: newer ones, and of equal times
those listed first. -/
def newerThan (items : List Snapshot) (item : Snapshot) : List Snapshot :=
  Ranking.ahead Snapshot.id (newestFirst items) item.id

/-- A recovery point is the newest of its bucket, and fewer than `count` buckets
have a newer one. -/
def Leads (bucket : Stamp → List Int) (count : Int) (newer : List Snapshot) (item : Snapshot) : Prop :=
  bucket item.stamp ∉ bucketsOf bucket newer ∧ ((bucketsOf bucket newer).card : Int) < count

theorem mem_tier {count : Int} {served : List (List Int)} {rest : List Snapshot} {id : Nat}
    (distinct : served.Nodup) (open_ : (served.length : Int) < count) :
    id ∈ tier bucket count served rest ↔ ∃ before item after, rest = before ++ item :: after ∧ item.id = id ∧
      bucket item.stamp ∉ served.toFinset ∪ bucketsOf bucket before ∧
      ((served.toFinset ∪ bucketsOf bucket before).card : Int) < count := by
  induction rest generalizing served with
  | nil =>
    refine ⟨fun member => (nomatch member), ?_⟩
    rintro ⟨before, item, after, split, _⟩
    exact absurd split.symm (append_ne_nil_of_right_ne_nil _ (cons_ne_nil _ _))
  | cons first rest ih =>
    have size : (served.toFinset ∪ bucketsOf bucket []).card = served.length := by
      rw [show bucketsOf bucket [] = ∅ from rfl, Finset.union_empty, toFinset_card_of_nodup distinct]
    -- the first item is kept when its bucket is new
    have head : (∃ before item after, first :: rest = before ++ item :: after ∧ item.id = id ∧
        bucket item.stamp ∉ served.toFinset ∪ bucketsOf bucket before ∧
        ((served.toFinset ∪ bucketsOf bucket before).card : Int) < count) ↔
        (first.id = id ∧ bucket first.stamp ∉ served) ∨
        ∃ before item after, rest = before ++ item :: after ∧ item.id = id ∧
          bucket item.stamp ∉ insert (bucket first.stamp) served.toFinset ∪ bucketsOf bucket before ∧
          ((insert (bucket first.stamp) served.toFinset ∪ bucketsOf bucket before).card : Int) < count := by
      constructor
      · rintro ⟨before, item, after, split, named, fresh, few⟩
        cases before with
        | nil =>
          cases split
          exact .inl ⟨named, fun old => fresh (Finset.mem_union_left _ (mem_toFinset.mpr old))⟩
        | cons other before =>
          cases split
          have same : served.toFinset ∪ bucketsOf bucket (first :: before) =
              insert (bucket first.stamp) served.toFinset ∪ bucketsOf bucket before := by
            rw [bucketsOf_cons, Finset.union_insert, Finset.insert_union]
          exact .inr ⟨before, item, after, rfl, named, same ▸ fresh, same ▸ few⟩
      · rintro (⟨named, fresh⟩ | ⟨before, item, after, rfl, named, fresh, few⟩)
        · refine ⟨[], first, rest, rfl, named, ?_, by rw [size]; exact open_⟩
          rw [show bucketsOf bucket [] = ∅ from rfl, Finset.union_empty, mem_toFinset]
          exact fresh
        · have same : served.toFinset ∪ bucketsOf bucket (first :: before) =
              insert (bucket first.stamp) served.toFinset ∪ bucketsOf bucket before := by
            rw [bucketsOf_cons, Finset.union_insert, Finset.insert_union]
          exact ⟨first :: before, item, after, rfl, named, same ▸ fresh, same ▸ few⟩
    rw [head, tier]
    by_cases old : bucket first.stamp ∈ served
    · rw [if_pos (contains_iff_mem.mpr old), ih distinct open_, Finset.insert_eq_of_mem (mem_toFinset.mpr old)]
      exact ⟨.inr, fun kept => kept.resolve_left fun leads => leads.2 old⟩
    · have wider : (bucket first.stamp :: served).Nodup := nodup_cons.mpr ⟨old, distinct⟩
      have larger : (bucket first.stamp :: served).toFinset = insert (bucket first.stamp) served.toFinset :=
        toFinset_cons
      rw [if_neg (fun seen => old (contains_iff_mem.mp seen))]
      by_cases full : count ≤ served.length + 1
      · rw [if_pos full, mem_singleton]
        constructor
        · exact fun named => .inl ⟨named.symm, old⟩
        · rintro (⟨named, _⟩ | ⟨before, item, after, _, _, _, few⟩)
          · exact named.symm
          · have grown : (bucket first.stamp :: served).toFinset.card ≤
                (insert (bucket first.stamp) served.toFinset ∪ bucketsOf bucket before).card :=
              Finset.card_le_card (larger ▸ Finset.subset_union_left)
            rw [toFinset_card_of_nodup wider, length_cons] at grown
            omega
      · rw [if_neg full, mem_cons, ih wider (by rw [length_cons]; omega), larger]
        refine or_congr ⟨fun named => ⟨named.symm, old⟩, fun leads => leads.1.symm⟩ Iff.rfl

theorem newestFirst_perm (items : List Snapshot) : (newestFirst items).Perm items := perm_insertionSort _ items

theorem newestFirst_sorted (items : List Snapshot) :
    (newestFirst items).Pairwise fun a b => b.stamp.instant ≤ a.stamp.instant := by
  exact pairwise_insertionSort _ items

theorem newestFirst_filter (items : List Snapshot) (P : Snapshot → Bool) :
    newestFirst (items.filter P) = (newestFirst items).filter P := by
  exact (Ranking.filter_insertionSort P items).symm

theorem newestFirst_distinct {items : List Snapshot} (distinct : (items.map Snapshot.id).Nodup) :
    ((newestFirst items).map Snapshot.id).Nodup :=
  ((newestFirst_perm items).map Snapshot.id).nodup_iff.mpr distinct

section
variable {items : List Snapshot} {options : Options} {protected_ : List Nat}

theorem exists_newerThan (distinct : (items.map Snapshot.id).Nodup) {P : List Snapshot → Snapshot → Prop} {id : Nat} :
    (∃ before item after, newestFirst items = before ++ item :: after ∧ item.id = id ∧ P before item) ↔
      ∃ item ∈ items, item.id = id ∧ P (newerThan items item) item := by
  have unique := newestFirst_distinct distinct
  constructor
  · rintro ⟨before, item, after, split, named, holds⟩
    have same : newerThan items item = before := by
      unfold newerThan
      rw [split] at unique ⊢
      exact Ranking.ahead_eq unique
    have member : item ∈ newestFirst items := by
      rw [split]
      exact mem_append_right _ mem_cons_self
    exact ⟨item, (newestFirst_perm items).mem_iff.mp member, named, same ▸ holds⟩
  · rintro ⟨item, member, named, holds⟩
    obtain ⟨after, split⟩ := Ranking.exists_ahead unique ((newestFirst_perm items).mem_iff.mpr member)
    exact ⟨_, item, after, split, named, holds⟩

variable {bucket : Stamp → List Int}

theorem mem_tierIds (distinct : (items.map Snapshot.id).Nodup) {count : Int} {id : Nat} :
    id ∈ tierIds bucket count (newestFirst items) ↔
      ∃ item ∈ items, item.id = id ∧ Leads bucket count (newerThan items item) item := by
  unfold tierIds
  by_cases closed : count ≤ 0
  · rw [if_pos closed]
    refine ⟨fun member => (nomatch member), ?_⟩
    rintro ⟨item, _, _, _, few⟩
    omega
  · rw [if_neg closed, mem_tier nodup_nil (by simpa using closed), ← exists_newerThan distinct]
    simp only [toFinset_nil, Finset.empty_union, Leads]

/-- One of the last `retention_count` recovery points. -/
def Recent (options : Options) (newer : List Snapshot) : Prop :=
  newer.length < (max 1 (options.retentionCount.getD 7)).toNat

/-- The policy keeps a recovery point for its own sake. -/
def Options.Keeps (options : Options) (newer : List Snapshot) (item : Snapshot) : Prop :=
  Recent options newer ∨ Leads Stamp.dayBucket (options.retentionDaily.getD 0) newer item ∨
    Leads Stamp.weekBucket (options.retentionWeekly.getD 0) newer item ∨
    Leads Stamp.monthBucket (options.retentionMonthly.getD 0) newer item

theorem mem_retained (some_ : items ≠ []) (distinct : (items.map Snapshot.id).Nodup) {id : Nat} :
    id ∈ retainedSnapshotIds items options protected_ ↔
      id ∈ protected_ ∨ ∃ item ∈ items, item.id = id ∧ options.Keeps (newerThan items item) item := by
  have recent : id ∈ ((newestFirst items).take (max 1 (options.retentionCount.getD 7)).toNat).map Snapshot.id ↔
      ∃ item ∈ items, item.id = id ∧ Recent options (newerThan items item) := by
    rw [← exists_newerThan (P := fun newer _ => Recent options newer) distinct, mem_map]
    constructor
    · rintro ⟨item, member, named⟩
      obtain ⟨before, after, split, short⟩ := Ranking.mem_take.mp member
      exact ⟨before, item, after, split, named, short⟩
    · rintro ⟨before, item, after, split, named, short⟩
      exact ⟨item, Ranking.mem_take.mpr ⟨before, after, split, short⟩, named⟩
  have sum : id ∈ retainedSnapshotIds items options protected_ ↔
      (id ∈ ((newestFirst items).take (max 1 (options.retentionCount.getD 7)).toNat).map Snapshot.id ∨
        id ∈ tierIds Stamp.dayBucket (options.retentionDaily.getD 0) (newestFirst items) ∨
        id ∈ tierIds Stamp.weekBucket (options.retentionWeekly.getD 0) (newestFirst items) ∨
        id ∈ tierIds Stamp.monthBucket (options.retentionMonthly.getD 0) (newestFirst items)) ∨ id ∈ protected_ := by
    unfold retainedSnapshotIds
    cases sorted : newestFirst items with
    | nil => exact absurd (sorted ▸ newestFirst_perm items).symm.eq_nil some_
    | cons newest older =>
      -- the newest is among the recent ones in any case
      have first : newest.id ∈ ((newest :: older).take (max 1 (options.retentionCount.getD 7)).toNat).map Snapshot.id := by
        rw [take_cons (by omega), map_cons]
        exact mem_cons_self
      simp only [mem_append, mem_singleton, or_assoc]
      constructor
      · rintro (kept | kept | kept | kept | rfl | kept)
        · exact .inl kept
        · exact .inr (.inl kept)
        · exact .inr (.inr (.inl kept))
        · exact .inr (.inr (.inr (.inl kept)))
        · exact .inl first
        · exact .inr (.inr (.inr (.inr kept)))
      · rintro (kept | kept | kept | kept | kept)
        · exact .inl kept
        · exact .inr (.inl kept)
        · exact .inr (.inr (.inl kept))
        · exact .inr (.inr (.inr (.inl kept)))
        · exact .inr (.inr (.inr (.inr (.inr kept))))
  rw [sum, recent, mem_tierIds distinct, mem_tierIds distinct, mem_tierIds distinct, or_comm]
  refine or_congr Iff.rfl ?_
  simp only [Options.Keeps, and_or_left, exists_or]

def Options.tiers (options : Options) : List ((Stamp → List Int) × Int) :=
  [(Stamp.dayBucket, options.retentionDaily.getD 0), (Stamp.weekBucket, options.retentionWeekly.getD 0),
    (Stamp.monthBucket, options.retentionMonthly.getD 0)]

theorem Leads.keeps {count : Int} {newer : List Snapshot} {item : Snapshot}
    (tier : (bucket, count) ∈ options.tiers) (leads : Leads bucket count newer item) : options.Keeps newer item := by
  simp only [Options.tiers, mem_cons, Prod.mk.injEq, not_mem_nil, or_false] at tier
  rcases tier with ⟨rfl, rfl⟩ | ⟨rfl, rfl⟩ | ⟨rfl, rfl⟩
  · exact .inr (.inl leads)
  · exact .inr (.inr (.inl leads))
  · exact .inr (.inr (.inr leads))

/-- The buckets that are met before one on the way from the newest recovery
point to the oldest. -/
def bucketsBefore (bucket : Stamp → List Int) (items : List Snapshot) (b : List Int) : Finset (List Int) :=
  bucketsOf bucket (Ranking.ahead (fun item => bucket item.stamp) (newestFirst items) b)

def HoldsNewest (bucket : Stamp → List Int) (items : List Snapshot) (kept : List Nat) (b : List Int) : Prop :=
  ∃ item ∈ items, bucket item.stamp = b ∧ item.id ∈ kept ∧
    ∀ other ∈ items, bucket other.stamp = b → other.stamp.instant ≤ item.stamp.instant

theorem holdsNewest (distinct : (items.map Snapshot.id).Nodup) {count : Int}
    (tier : (bucket, count) ∈ options.tiers) {b : List Int} (present : b ∈ bucketsOf bucket items)
    (few : ((bucketsBefore bucket items b).card : Int) < count) :
    HoldsNewest bucket items (retainedSnapshotIds items options protected_) b := by
  obtain ⟨witness, inside, within⟩ := mem_bucketsOf.mp present
  have order := newestFirst_perm items
  obtain ⟨item, after, split, named⟩ : ∃ item after, newestFirst items =
      Ranking.ahead (fun item => bucket item.stamp) (newestFirst items) b ++ item :: after ∧ bucket item.stamp = b :=
    Ranking.exists_first ⟨witness, order.mem_iff.mpr inside, within⟩
  have member : item ∈ items := by
    rw [← order.mem_iff, split]
    exact mem_append_right _ mem_cons_self
  have newer : newerThan items item = Ranking.ahead (fun item => bucket item.stamp) (newestFirst items) b := by
    have unique := newestFirst_distinct distinct
    unfold newerThan
    rw [split] at unique
    conv => lhs; rw [split]
    exact Ranking.ahead_eq unique
  refine ⟨item, member, named, ?_, fun other listed same => ?_⟩
  · refine (mem_retained (ne_nil_of_mem member) distinct).mpr (.inr ⟨item, member, rfl, ?_⟩)
    refine Leads.keeps tier ⟨?_, newer ▸ few⟩
    rw [newer, named, mem_bucketsOf]
    rintro ⟨other, ahead, same⟩
    have apart := Ranking.apart_of_ahead ahead
    exact apart same
  · have sorted := newestFirst_sorted items
    rw [← order.mem_iff, split] at listed
    rw [split, pairwise_append, pairwise_cons] at sorted
    rcases mem_append.mp listed with ahead | behind
    · have apart := Ranking.apart_of_ahead ahead
      exact absurd same apart
    · rcases mem_cons.mp behind with rfl | behind
      · exact le_refl _
      · exact sorted.2.1.1 other behind

/-- The calendar goes with the time, as it does for times of one UTC offset. -/
def Ascending (bucket : Stamp → List Int) (items : List Snapshot) : Prop :=
  ∀ first ∈ items, ∀ second ∈ items, first.stamp.instant ≤ second.stamp.instant → bucket first.stamp ≤ bucket second.stamp

/-- Then the buckets met before one are later in the calendar. -/
theorem bucketsBefore_later {b : List Int} (ascending : Ascending bucket items)
    (present : b ∈ bucketsOf bucket items) :
    bucketsBefore bucket items b ⊆ (bucketsOf bucket items).filter (b < ·) := by
  obtain ⟨witness, inside, within⟩ := mem_bucketsOf.mp present
  have order := newestFirst_perm items
  have sorted := newestFirst_sorted items
  obtain ⟨item, after, split, named⟩ : ∃ item after, newestFirst items =
      Ranking.ahead (fun item => bucket item.stamp) (newestFirst items) b ++ item :: after ∧ bucket item.stamp = b :=
    Ranking.exists_first ⟨witness, order.mem_iff.mpr inside, within⟩
  intro other earlier
  obtain ⟨newer, ahead, same⟩ := mem_bucketsOf.mp earlier
  have member (point : Snapshot) (listed : point ∈ Ranking.ahead (fun item => bucket item.stamp) (newestFirst items) b ++
      item :: after) : point ∈ items := order.mem_iff.mp (split ▸ listed)
  rw [split, pairwise_append] at sorted
  have later : b ≤ bucket newer.stamp := named ▸ ascending item (member item (by simp)) newer
    (member newer (mem_append_left _ ahead)) (sorted.2.2 newer ahead item mem_cons_self)
  have apart := Ranking.apart_of_ahead ahead
  rw [same] at apart later
  exact Finset.mem_filter.mpr ⟨mem_bucketsOf.mpr ⟨newer, member newer (mem_append_left _ ahead), same⟩,
    lt_of_le_of_ne later (Ne.symm apart)⟩

/-- The first recovery points of the order, as many as the policy counts. -/
def mostRecent (items : List Snapshot) (options : Options) : List Snapshot :=
  (newestFirst items).take (max 1 (options.retentionCount.getD 7)).toNat

theorem mostRecent_spec (protected_ : List Nat) (distinct : (items.map Snapshot.id).Nodup) :
    (mostRecent items options).Nodup ∧
      (mostRecent items options).length = min items.length (max 1 (options.retentionCount.getD 7)).toNat ∧
      ∀ item ∈ mostRecent items options, item ∈ items ∧ item.id ∈ retainedSnapshotIds items options protected_ ∧
        ∀ other ∈ items, other ∉ mostRecent items options → other.stamp.instant ≤ item.stamp.instant := by
  have order := newestFirst_perm items
  have unique := newestFirst_distinct distinct
  refine ⟨(unique.of_map _).sublist (take_sublist _ _), ?_, fun item member => ?_⟩
  · rw [mostRecent, length_take, order.length_eq, min_comm]
  · have inside : item ∈ items := order.mem_iff.mp (mem_of_mem_take member)
    refine ⟨inside, ?_, fun other listed absent => ?_⟩
    · obtain ⟨before, after, split, short⟩ := Ranking.mem_take.mp member
      have newer : newerThan items item = before := by
        unfold newerThan
        rw [split] at unique ⊢
        exact Ranking.ahead_eq unique
      exact (mem_retained (ne_nil_of_mem inside) distinct).mpr (.inr ⟨item, inside, rfl, .inl (newer ▸ short)⟩)
    · have sorted := newestFirst_sorted items
      rw [← take_append_drop (max 1 (options.retentionCount.getD 7)).toNat (newestFirst items),
        pairwise_append] at sorted
      rw [← order.mem_iff, ← take_append_drop (max 1 (options.retentionCount.getD 7)).toNat (newestFirst items)] at listed
      exact sorted.2.2 item member other ((mem_append.mp listed).resolve_left absent)

/-- Among what was retained everything keeps its reason. -/
theorem Keeps.again {P : Snapshot → Bool} {item : Snapshot} (distinct : (items.map Snapshot.id).Nodup)
    (member : item ∈ items) (kept : P item) (keeps : options.Keeps (newerThan items item) item) :
    options.Keeps (newerThan (items.filter P) item) item := by
  have fewer : newerThan (items.filter P) item = (newerThan items item).filter P := by
    unfold newerThan
    rw [newestFirst_filter]
    exact Ranking.ahead_filter _ P (newestFirst_distinct distinct) ((newestFirst_perm items).mem_iff.mpr member) kept
  have leads {bucket : Stamp → List Int} {count : Int} (leads : Leads bucket count (newerThan items item) item) :
      Leads bucket count (newerThan (items.filter P) item) item := by
    have subset : bucketsOf bucket (newerThan (items.filter P) item) ⊆ bucketsOf bucket (newerThan items item) := by
      rw [fewer]
      exact bucketsOf_subset (filter_subset_self _)
    exact ⟨fun present => leads.1 (subset present),
      lt_of_le_of_lt (Int.ofNat_le.mpr (Finset.card_le_card subset)) leads.2⟩
  rcases keeps with recent | day | week | month
  · refine .inl (lt_of_le_of_lt ?_ recent)
    rw [fewer]
    exact length_filter_le _ _
  · exact .inr (.inl (leads day))
  · exact .inr (.inr (.inl (leads week)))
  · exact .inr (.inr (.inr (leads month)))

/-- What the policy leaves of a list of recovery points. -/
def retained (items : List Snapshot) (options : Options) (protected_ : List Nat) : List Snapshot :=
  items.filter fun item => item.id ∈ retainedSnapshotIds items options protected_

theorem retained_again (distinct : (items.map Snapshot.id).Nodup) : ∀ item ∈ retained items options protected_,
      item.id ∈ retainedSnapshotIds (retained items options protected_) options protected_ := by
  intro item member
  obtain ⟨inside, kept⟩ := mem_filter.mp member
  have still : ((retained items options protected_).map Snapshot.id).Nodup :=
    distinct.sublist (filter_sublist.map Snapshot.id)
  rw [mem_retained (ne_nil_of_mem member) still]
  rcases (mem_retained (ne_nil_of_mem inside) distinct).mp (of_decide_eq_true kept) with safe | ⟨same, listed, named, keeps⟩
  · exact .inl safe
  · have equal : same = item := inj_on_of_nodup_map distinct listed inside named
    subst equal
    exact .inr ⟨same, member, rfl, Keeps.again distinct listed kept keeps⟩

end

def pointAt (id : Nat) (time : Stamp) : Snapshot :=
  { id, destinationId := 1, accountId := 1, policyId := 1, time := some time }

/-- 2025-01-02T00:30+14:00, half past ten of the first of January in UTC. -/
def fromKiritimati : Snapshot :=
  pointAt 1 { instant := 1735727400000000, year := 2025, month := 1, day := 2, isoYear := 2025, isoWeek := 1 }

/-- 2025-01-01T12:00+00:00 -/
def fromGreenwich : Snapshot :=
  pointAt 2 { instant := 1735732800000000, year := 2025, month := 1, day := 1, isoYear := 2025, isoWeek := 1 }

def oneADay : Options :=
  { retentionCount := some 1, retentionDaily := some 1, retentionWeekly := none, retentionMonthly := none }

end Boron.SnapshotJobs
